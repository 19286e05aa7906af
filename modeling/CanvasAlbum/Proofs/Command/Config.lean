import CanvasAlbum.Command.Config
import CanvasAlbum.Proofs.Json.Records

namespace CanvasAlbum.Config
open Json Codec Fields

structure Given where
  canvasWidth : Option UInt32
  canvasHeight : Option UInt32
  title : Option String
  heading : Option String
  overwrite : Option Bool

namespace Given

def config (g : Given) : Config where
  canvasWidth := g.canvasWidth.getD standard.canvasWidth
  canvasHeight := g.canvasHeight.getD standard.canvasHeight
  title := g.title.getD standard.title
  heading := g.heading.getD standard.heading
  overwrite := g.overwrite.getD standard.overwrite

def members (g : Given) : List (String × Writer) :=
  given "canvas_width" (unsigned32 : Codec Empty UInt32) g.canvasWidth ++
    (given "canvas_height" (unsigned32 : Codec Empty UInt32) g.canvasHeight ++
      (given "title" (text : Codec Empty String) g.title ++
        (given "heading" (text : Codec Empty String) g.heading ++
          (given "overwrite" (flag : Codec Empty Bool) g.overwrite ++ []))))

/-- No setting is given behind one that is missing. -/
structure Leading (g : Given) : Prop where
  canvasWidth : g.canvasWidth = none → g.canvasHeight = none
  canvasHeight : g.canvasHeight = none → g.title = none
  title : g.title = none → g.heading = none
  heading : g.heading = none → g.overwrite = none

theorem fills (g : Given) : fields.Fills g.members
    (g.canvasWidth, g.canvasHeight, g.title, g.heading, g.overwrite, ()) :=
  optional_fills unsigned32_lawful (by simp [Fields.optional, required, nil]) _ _ <|
    optional_fills unsigned32_lawful (by simp [Fields.optional, required, nil]) _ _ <|
    optional_fills text_lawful (by simp [Fields.optional, required, nil]) _ _ <|
    optional_fills text_lawful (by simp [Fields.optional, required, nil]) _ _ <|
    optional_fills flag_lawful rfl _ _ nil_fills

theorem listed {g : Given} (leading : g.Leading) : fields.Listed (g.members.map Prod.snd)
    (g.config.canvasWidth, g.config.canvasHeight, g.config.title, g.config.heading,
      g.config.overwrite, ()) := by
  obtain ⟨width, height, title, heading⟩ := leading
  apply optional_listed unsigned32_lawful
  · apply optional_listed unsigned32_lawful
    · apply optional_listed text_lawful
      · apply optional_listed text_lawful
        · apply optional_listed flag_lawful
          · exact nil_listed
          · exact fun _ => rfl
        · intro missing
          simp [given, heading missing]
      · intro missing
        simp [given, title missing, heading (title missing)]
    · intro missing
      simp [given, height missing, title (height missing), heading (title (height missing))]
  · intro missing
    have gone := width missing
    simp [given, gone, height gone, title (height gone), heading (title (height gone))]

theorem object_reads (g : Given) {order : List (String × Writer)} (perm : order.Perm g.members) :
    Reads codec.read (Writer.object order) g.config :=
  (read_object (g.fills order perm) rfl).map _

theorem array_reads {g : Given} (leading : g.Leading) :
    Reads codec.read (Writer.array (g.members.map Prod.snd)) g.config :=
  (read_array (listed leading)).map _

def whole (c : Config) : Given :=
  ⟨some c.canvasWidth, some c.canvasHeight, some c.title, some c.heading, some c.overwrite⟩

end Given

theorem write_eq (c : Config) : codec.write c = Writer.object (Given.whole c).members := rfl

theorem codec_lawful : codec.Lawful where
  opens c := by
    rw [write_eq]
    exact Writer.object_opens _
  reads c := by
    rw [write_eq]
    exact (Given.whole c).object_reads (List.Perm.refl _)

theorem ofText?_of_reads {w : Writer} {c : Config} (reads : Reads codec.read w c)
    {layout : Layout} (blank : layout.Blank) : ofText? (w.render layout) = some c := by
  rw [ofText?, reads.run_render blank]
  rfl

/-- A written configuration is read back. Settings that are missing have their standard values,
in an object of members in any order as in an array that ends early. -/
theorem configs_are_read_back {layout : Layout} (blank : layout.Blank) :
    (∀ c : Config, ofText? ((codec.write c).render layout) = some c) ∧
    ∀ g : Given,
      (∀ order : List (String × Writer), order.Perm g.members →
        ofText? ((Writer.object order).render layout) = some g.config) ∧
      (g.Leading → ofText? ((Writer.array (g.members.map Prod.snd)).render layout) =
        some g.config) := by
  refine ⟨fun c => ofText?_of_reads (codec_lawful.reads c) blank, fun g => ⟨?_, ?_⟩⟩
  · intro order perm
    exact ofText?_of_reads (g.object_reads perm) blank
  · intro leading
    exact ofText?_of_reads (Given.array_reads leading) blank

example : ofText? "[640, 480]" =
    some { standard with canvasWidth := 640, canvasHeight := 480 } := by
  decide +kernel

end CanvasAlbum.Config
