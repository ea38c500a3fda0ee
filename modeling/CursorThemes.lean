import CursorThemes.Animation
import CursorThemes.Builtin.Bitmap
import CursorThemes.Builtin.Collection
import CursorThemes.Config.Basic
import CursorThemes.Config.Document
import CursorThemes.Config.File
import CursorThemes.Cursor
import CursorThemes.Decimal.Binary64
import CursorThemes.Decimal.Shortest
import CursorThemes.Environment
import CursorThemes.Error
import CursorThemes.FileTree
import CursorThemes.Host
import CursorThemes.Installation
import CursorThemes.Notice
import CursorThemes.Path
import CursorThemes.Pool.Backing
import CursorThemes.Pool.Basic
import CursorThemes.Saturating
import CursorThemes.SearchPath
import CursorThemes.Session
import CursorThemes.Sprite
import CursorThemes.SystemError
import CursorThemes.Text.Blank
import CursorThemes.Text.Concealed
import CursorThemes.Text.Quoted
import CursorThemes.Text.Utf8
import CursorThemes.Theme.Basic
import CursorThemes.Theme.Load
import CursorThemes.Toml.Document
import CursorThemes.Toml.Quoting
import CursorThemes.Toml.Scalar
import CursorThemes.Toml.Statement
import CursorThemes.Toml.Token
import CursorThemes.Toml.Token.Quotation
import CursorThemes.Toml.Token.Scan
import CursorThemes.Toml.Value
import CursorThemes.Xcursor.File
import CursorThemes.Xcursor.Loader
import CursorThemes.Xcursor.Nearest
import CursorThemes.Proofs.Allocation
import CursorThemes.Proofs.Storing
import CursorThemes.Proofs.Accounting
import CursorThemes.Proofs.History
import CursorThemes.Proofs.Pixels
import CursorThemes.Proofs.RequestLog
import CursorThemes.Proofs.Tenancy
import CursorThemes.Proofs.Lifetime
import CursorThemes.Proofs.Renaming
import CursorThemes.Proofs.Interleaving
import CursorThemes.Proofs.Layout
import CursorThemes.Proofs.Geometry
import CursorThemes.Proofs.Usage
import CursorThemes.Proofs.Atomicity
import CursorThemes.Proofs.Cells
import CursorThemes.Proofs.Growth
import CursorThemes.Proofs.Windows
import CursorThemes.Proofs.Playback
import CursorThemes.Proofs.Rasters
import CursorThemes.Proofs.Fallback
import CursorThemes.Proofs.KeyedLists
import CursorThemes.Proofs.CursorFiles
import CursorThemes.Proofs.Iteration
import CursorThemes.Proofs.PathNames
import CursorThemes.Proofs.Confinement
import CursorThemes.Proofs.Expansion
import CursorThemes.Proofs.Environment
import CursorThemes.Proofs.Continuation
import CursorThemes.Proofs.SearchOrder
import CursorThemes.Proofs.Lines
import CursorThemes.Proofs.Numerals
import CursorThemes.Proofs.Overlay
import CursorThemes.Proofs.RoundTrip
import CursorThemes.Proofs.NominalSizes
import CursorThemes.Proofs.Encoding
import CursorThemes.Proofs.Fates
import CursorThemes.Proofs.Pruning
import CursorThemes.Proofs.Failures
import CursorThemes.Proofs.Storability
