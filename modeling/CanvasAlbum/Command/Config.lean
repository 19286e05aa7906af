import CanvasAlbum.Command.Arguments
import CanvasAlbum.Json.Codec

namespace CanvasAlbum
open Json

structure Config where
  canvasWidth : UInt32
  canvasHeight : UInt32
  title : String
  heading : String
  overwrite : Bool
  deriving DecidableEq

namespace Config

def standard : Config :=
  let page := PageOptions.standard
  ⟨page.width, page.height, page.title, page.heading, false⟩

def fields : Fields Empty
    (Option UInt32 × Option UInt32 × Option String × Option String × Option Bool × Unit)
    (UInt32 × UInt32 × String × String × Bool × Unit) :=
  .optional "canvas_width" .unsigned32 standard.canvasWidth <|
    .optional "canvas_height" .unsigned32 standard.canvasHeight <|
    .optional "title" .text standard.title <| .optional "heading" .text standard.heading <|
    .optional "overwrite" .flag standard.overwrite .nil

def codec : Codec Empty Config := fields.codec.map
  (fun (width, height, title, heading, overwrite, _) => ⟨width, height, title, heading, overwrite⟩)
  (fun c => (c.canvasWidth, c.canvasHeight, c.title, c.heading, c.overwrite, ()))

def ofText? (text : String) : Option Config := (codec.read.run text).toOption

def defaultPath (configHome home : Option String) : Path :=
  let directory : Path := match configHome with
    | some directory => ⟨directory⟩
    | none => (Path.mk (home.getD ".")).join ".config"
  (directory.join "shapealbum").join "config.json"

def override (c : Config) (arguments : Arguments) : Config :=
  { c with
    canvasWidth := arguments.width.getD c.canvasWidth
    canvasHeight := arguments.height.getD c.canvasHeight
    overwrite := c.overwrite || arguments.force }

def pageOptions (c : Config) : PageOptions := ⟨c.title, c.heading, c.canvasWidth, c.canvasHeight⟩

end Config

end CanvasAlbum
