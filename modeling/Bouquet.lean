import Bouquet.Canvas
import Bouquet.Marks
import Bouquet.Pixmap.Crop
import Bouquet.Pixmap.Scale
import Bouquet.Recording
import Bouquet.Reference.Hash
import Bouquet.Schedule.Event
import Bouquet.Schedule.TimePattern
import Bouquet.Signal
import Bouquet.Text.Case
import Bouquet.Toml.Reader
import Bouquet.Look.Basic
import Bouquet.Sources
import Bouquet.Listing.Run
import Bouquet.Row.Basic
import Bouquet.Row.Scene
import Bouquet.Row.Compose
import Bouquet.ListView.Basic
import Bouquet.ListView.Run
import Bouquet.ListView.Summary
import Bouquet.Proofs.Rows
import Bouquet.Proofs.Runs
import Bouquet.Proofs.Strides
import Bouquet.Proofs.Bookmarks
import Bouquet.Proofs.Sorting
import Bouquet.Proofs.Effects
import Bouquet.Proofs.CursorPlacement
import Bouquet.Proofs.RowMirror
import Bouquet.Proofs.Occurrences
import Bouquet.Proofs.Ledger
import Bouquet.Proofs.BookmarkHistory
import Bouquet.Proofs.DragSession
import Bouquet.Proofs.DraggedEntry
import Bouquet.Proofs.IdentityOnly
import Bouquet.Proofs.Differences
import Bouquet.Proofs.RowFaults
import Bouquet.Proofs.RowPieces
import Bouquet.Proofs.ShownOnce
import Bouquet.Proofs.WellFormedRows
import Bouquet.Proofs.LiveData
import Bouquet.Proofs.StrictDifferences
import Bouquet.Proofs.RowPainting
import Bouquet.Proofs.Connections
import Bouquet.Proofs.Emission
import Bouquet.Proofs.EmissionLaw
import Bouquet.Proofs.MarkedSet
import Bouquet.Proofs.MarksApart
import Bouquet.Proofs.QuotedText
import Bouquet.Proofs.WrittenNumbers
import Bouquet.Proofs.OptionsDocument
import Bouquet.Proofs.RowOrdinals
import Bouquet.Proofs.RowTracks
import Bouquet.Proofs.FreeMoves
import Bouquet.Proofs.DraggedMoves
import Bouquet.Proofs.StableSorting
import Bouquet.Proofs.GuardedLists
import Bouquet.Proofs.GuardedOperations
import Bouquet.Proofs.CircularSearches
import Bouquet.Proofs.Circuits
import Bouquet.Proofs.Insertions
import Bouquet.Proofs.KeptPlaces
import Bouquet.Proofs.Draining
import Bouquet.Proofs.BulkFill
import Bouquet.Proofs.SharedForeground
import Bouquet.Proofs.NameColor
import Bouquet.Proofs.MarkedLook
import Bouquet.Proofs.RunningEvents
import Bouquet.Proofs.MinutesLeft
import Bouquet.Proofs.RememberedPicons
import Bouquet.Proofs.ClusterCounts
import Bouquet.Proofs.ClusterRules
import Bouquet.Proofs.Segmentation
import Bouquet.Proofs.Elision
import Bouquet.Proofs.RowNumbers
import Bouquet.Proofs.PixelData
import Bouquet.Proofs.CenteredWindows
import Bouquet.Proofs.ClipStack
import Bouquet.Proofs.OrderAgreement
