import Mbv.Queue.History
import Mbv.Player.TransitionHistory
import Mbv.Player.LifecycleHistory
import Mbv.Player.Run.Coherence
import Mbv.Player.Run.Stops
import Mbv.Player.Run.Playlist
import Mbv.Daemon.IntentHistory
import Mbv.Daemon.IntentCompletion
import Mbv.Daemon.QueueMirror
import Mbv.Daemon.PlaylistMirror
import Mbv.Daemon.SlotAdmission
import Mbv.Daemon.ObservedSlot
import Mbv.Client.TransferSafety
import Mbv.Output.Session
import Mbv.Output.SessionOwner
import Mbv.Output.SessionLoads
import Mbv.Output.SessionPolls
import Mbv.Output.SessionEnds
import Mbv.Output.AdoptionGate
import Mbv.Player.Run.Announce
import Mbv.Daemon.RunFence
import Mbv.Player.Run.QueueStart
import Mbv.Daemon.ClientRegistry
import Mbv.Daemon.QueueCommands
import Mbv.Daemon.QueueRejection
import Mbv.Daemon.QueueLineage
import Mbv.Daemon.QueueAttach
import Mbv.Player.Run.Drain
import Mbv.Client.PlaylistMutations
import Mbv.Client.PlaylistOrder
import Mbv.Client.OwnerEvents
import Mbv.Client.AnswerPump
import Mbv.Client.QueueSaves
import Mbv.Client.CleanQueue
import Mbv.Player.Run.PlayingRun
import Mbv.Player.Run.PlayingHistory
import Mbv.Surfaces.Key
import Mbv.Surfaces.MediaList
import Mbv.Surfaces.MediaListHistory
import Mbv.Sequence.Forest
import Mbv.Surfaces.TreeBrowser
import Mbv.Surfaces.TreeOperations
import Mbv.Surfaces.TreeForest
import Mbv.Surfaces.TreeFlow
import Mbv.Surfaces.TreeHistory
import Mbv.Input.Chord
import Mbv.Input.Keybinds
import Mbv.Input.KeyRouting
import Mbv.Audiobookshelf.Catalog
import Mbv.Audiobookshelf.Browse
import Mbv.Audiobookshelf.CatalogRefresh
import Mbv.Audiobookshelf.CatalogHistory
import Mbv.Audiobookshelf.CatalogTraffic
import Mbv.Client.AttachmentSlots
import Mbv.Client.SlotsHistory
import Mbv.Settings.Document
import Mbv.Settings.Config
import Mbv.Settings.Parse
import Mbv.Settings.Save
import Mbv.Text.Trim
import Mbv.Input.ChordText
import Mbv.Settings.SavedKeys
import Mbv.Settings.KeysTable
import Mbv.Settings.SavedValues
import Mbv.Sequence.Writers
import Mbv.Settings.SectionReads
import Mbv.Settings.SavedSections
import Mbv.Settings.SavedServices
import Mbv.Settings.Loaded
import Mbv.Settings.SaveTrip
import Mbv.Player.Run.ReorderRun
import Mbv.Queue.Reconciliation
import Mbv.Daemon.QueueShuffle
import Mbv.Machine.Stamps
import Mbv.Queue.RevisionHistory
import Mbv.Player.Run.NearEnd
import Mbv.Player.RelativeSteps
import Mbv.Player.Run.RemovedPlaying
import Mbv.Daemon.PinSwap
import Mbv.Daemon.PinSwapHistory
import Mbv.Client.FeedPositions
import Mbv.Client.FeedHistory
import Mbv.Library.Browse
import Mbv.Library.BrowseScope
import Mbv.Daemon.Admission
import Mbv.Daemon.PeerProjection
import Mbv.Daemon.SavedQueue
import Mbv.Machine.Retry
import Mbv.Player.ResumeSeam
import Mbv.Daemon.RemotePlay
import Mbv.Daemon.QueueFiles
import Mbv.Sequence.Delimited
import Mbv.Mpv.Events
import Mbv.Mpv.IpcSession
import Mbv.Mpv.IpcHistory
import Mbv.Mpv.IpcDelivery
import Mbv.Machine.Tenancy
import Mbv.Output.Cast
import Mbv.Output.CastOwner
import Mbv.Output.CastReporting
import Mbv.Output.CastReportHistory
import Mbv.Output.AdvanceOrder
import Mbv.Sequence.Seek
import Mbv.Output.SessionAdvance
import Mbv.Output.CastAdvance
import Mbv.Output.AdvanceEnds
import Mbv.Output.ExitHandover
import Mbv.Output.DeviceMoves
import Mbv.Sequence.Assignment
import Mbv.Text.WordMatch
import Mbv.Feed.Duration
import Mbv.Player.Reporting
import Mbv.Images.Cache
import Mbv.Images.FetchHistory
import Mbv.Client.QueueUndo
import Mbv.Sequence.Framed
import Mbv.Sequence.Occurrences
import Mbv.Surfaces.TvTree
import Mbv.Surfaces.MusicTree
import Mbv.Machine.Fifo
import Mbv.Ws.Transport
import Mbv.RemotePlayer.Connection
import Mbv.RemotePlayer.EndNotice
import Mbv.Sequence.Escapes
import Mbv.Text.Html
import Mbv.Text.HtmlFragments
import Mbv.Text.HtmlKept
import Mbv.Input.PrefixMode
import Mbv.Surfaces.Viewport
import Mbv.Surfaces.VisualRange
import Mbv.Surfaces.Paging
import Mbv.Surfaces.NaturalOrder
import Mbv.Surfaces.PremiereKey
