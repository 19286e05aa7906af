import CanvasAlbum.Command.Storage
import CanvasAlbum.Main
import CanvasAlbum.Proofs.Album.Batches
import CanvasAlbum.Proofs.Album.Calls
import CanvasAlbum.Proofs.Album.Causes
import CanvasAlbum.Proofs.Album.Composition
import CanvasAlbum.Proofs.Album.Moments
import CanvasAlbum.Proofs.Album.Numbering
import CanvasAlbum.Proofs.Capture.Calls
import CanvasAlbum.Proofs.Capture.Cycling
import CanvasAlbum.Proofs.Capture.Identity
import CanvasAlbum.Proofs.Capture.Issuing
import CanvasAlbum.Proofs.Command.Config
import CanvasAlbum.Proofs.Command.Endings
import CanvasAlbum.Proofs.Drawing.LastWriter
import CanvasAlbum.Proofs.Interchange
import CanvasAlbum.Proofs.Names
import CanvasAlbum.Proofs.Script.Grammar
import CanvasAlbum.Proofs.Script.LineEnds
import CanvasAlbum.Proofs.Script.Spacing
import CanvasAlbum.Proofs.Script.Wording
import CanvasAlbum.Proofs.View.DrawingSize
import CanvasAlbum.Proofs.View.Escaping
import CanvasAlbum.Proofs.View.Listing
import CanvasAlbum.Proofs.View.Lossless
import CanvasAlbum.Proofs.View.Page
