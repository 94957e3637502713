import DeviceTwin.Bench.Basic
import DeviceTwin.Main
import DeviceTwin.NodeId.Source
import DeviceTwin.Proofs.Bench.Publishing
import DeviceTwin.Proofs.Bench.Starting
import DeviceTwin.Proofs.Config.ReadBack
import DeviceTwin.Proofs.Console.Endings
import DeviceTwin.Proofs.Console.NormalForm
import DeviceTwin.Proofs.Console.ReplyLines
import DeviceTwin.Proofs.Console.Standing
import DeviceTwin.Proofs.Console.Startup
import DeviceTwin.Proofs.NodeId.FirstFault
import DeviceTwin.Proofs.NodeId.Grammar
import DeviceTwin.Proofs.NodeId.RoundTrip
import DeviceTwin.Proofs.NodeId.TableLayout
import DeviceTwin.Proofs.NodeId.TableRoundTrip
import DeviceTwin.Proofs.NodeId.SourceLines
import DeviceTwin.Proofs.NodeId.SourceReading
import DeviceTwin.Proofs.NodeId.Order
import DeviceTwin.Proofs.NodeId.Search
import DeviceTwin.Proofs.Bench.SenderLists
import DeviceTwin.Proofs.Site.Parts
import DeviceTwin.Proofs.Bench.Concurrence
import DeviceTwin.Proofs.Bench.Isolation
import DeviceTwin.Proofs.Program.Verbosity
