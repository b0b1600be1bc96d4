import ProtocInvocation.File.Tree
import ProtocInvocation.Main
import ProtocInvocation.Proofs.Settings.Merge
import ProtocInvocation.Proofs.Settings.Binding
import ProtocInvocation.Proofs.Expansion.Outcome
import ProtocInvocation.Proofs.Expansion.Settings
import ProtocInvocation.Proofs.Plugin.Directives
import ProtocInvocation.Proofs.Plugin.Collection
import ProtocInvocation.Proofs.Expansion.Plugins
import ProtocInvocation.Proofs.Expansion.Paths
import ProtocInvocation.Proofs.Environment.Resolution
import ProtocInvocation.Proofs.Environment.Plugins
import ProtocInvocation.Proofs.Argument.Faults
import ProtocInvocation.Proofs.Expansion.Cycles
import ProtocInvocation.Proofs.Expansion.Opening
import ProtocInvocation.Proofs.Environment.Unsupported
import ProtocInvocation.Proofs.Flag.Name
import ProtocInvocation.Proofs.Argument.Spelling
import ProtocInvocation.Proofs.Argument.Rendering
import ProtocInvocation.Proofs.Plugin.Entries
import ProtocInvocation.Proofs.Environment.Expressible
import ProtocInvocation.Proofs.Environment.CommandLine
import ProtocInvocation.Proofs.Argument.Place
import ProtocInvocation.Proofs.Expansion.Files
import ProtocInvocation.Proofs.Expansion.Growth
import ProtocInvocation.Proofs.Plugin.Order
import ProtocInvocation.Proofs.Expansion.Alike
import ProtocInvocation.Proofs.Expansion.Neighbours
import ProtocInvocation.Proofs.Expansion.Earlier
import ProtocInvocation.Proofs.Expansion.Continuation
import ProtocInvocation.Proofs.Expansion.Independence
import ProtocInvocation.Proofs.Expansion.Inlined
import ProtocInvocation.Proofs.Expansion.Faults
import ProtocInvocation.Proofs.Environment.Configured
import ProtocInvocation.Proofs.Plugin.Room
import ProtocInvocation.Proofs.File.Path
import ProtocInvocation.Proofs.Plugin.Paths
import ProtocInvocation.Proofs.File.Listing
import ProtocInvocation.Proofs.Plugin.Log
import ProtocInvocation.Proofs.Argument.Forms
import ProtocInvocation.Proofs.Json
import ProtocInvocation.Proofs.Environment.Document
import ProtocInvocation.Proofs.Command.Line
import ProtocInvocation.Proofs.Expansion.Commas
import ProtocInvocation.Proofs.Argument.Lacking
import ProtocInvocation.Proofs.Expansion.Reading
import ProtocInvocation.Proofs.Environment.Lacking
import ProtocInvocation.Proofs.Argument.Cluster
import ProtocInvocation.Proofs.Settings.Fields
import ProtocInvocation.Proofs.Settings.InPlace
