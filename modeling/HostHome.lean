import HostHome.Regex.Pattern
import HostHome.Text.Ansi
import HostHome.Text.Quoted
import HostHome.Text.Substring
import HostHome.Path.Normal
import HostHome.Config.HostGroup
import HostHome.Config.Transfer
import HostHome.Config.Layout
import HostHome.Failure.Cause
import HostHome.Calendar
import HostHome.InitScript
import HostHome.FileSystem.Listing
import HostHome.FileSystem.Tree
import HostHome.Execution.Lookup
import HostHome.Link
import HostHome.Sync
import HostHome.Shell.Run
import HostHome.Log.File
import HostHome.Run
import HostHome.Provision.Provisioning
import HostHome.Provision.SelfTest
import HostHome.Program
import HostHome.Main
import HostHome.Proofs.Config.Resolution
import HostHome.Proofs.Provision.SharedHome
import HostHome.Proofs.Provision.Readiness
import HostHome.Proofs.Provision.Resumption
import HostHome.Proofs.Provision.Copies
import HostHome.Proofs.Provision.TransferLinks
import HostHome.Proofs.Provision.TransferSources
import HostHome.Proofs.Config.LineNumbers
import HostHome.Proofs.Program
import HostHome.Proofs.Provision.LinkTargets
import HostHome.Proofs.Provision.SelfTest
import HostHome.Proofs.Config.Directive
import HostHome.Proofs.Config.TransferFile
import HostHome.Proofs.Config.HostGroupFile
import HostHome.Proofs.Provision.HomeNames
import HostHome.Proofs.Provision.RepeatedTransfers
import HostHome.Proofs.FileSystem.TreeCreation
import HostHome.Proofs.FileSystem.DeliveredTrees
import HostHome.Proofs.FileSystem.ConcurrentTrees
import HostHome.Proofs.FileSystem.ConcurrentLinks
import HostHome.Proofs.Provision.PassThrough
import HostHome.Proofs.InitScript.Assignment
import HostHome.Proofs.Execution.Lookup
import HostHome.Proofs.Provision.Completion
import HostHome.Proofs.Provision.Restoration
import HostHome.Proofs.Calendar.Stamps
import HostHome.Proofs.Provision.NormalHomes
import HostHome.Proofs.Log.Directory
import HostHome.Proofs.Provision.ExitStatus
import HostHome.Proofs.Text.Fields
import HostHome.Proofs.Text.Ansi
