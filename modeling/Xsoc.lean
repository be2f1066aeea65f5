import Xsoc.Durable.History
import Xsoc.Durable.Transaction
import Xsoc.Durable.Program
import Xsoc.Durable.Machine
import Xsoc.Json
import Xsoc.Config
import Xsoc.Pairing.State
import Xsoc.Pairing.Storage
import Xsoc.Pairing.Client
import Xsoc.Pairing.Credentials
import Xsoc.Pairing.Commit
import Xsoc.Pairing.Create
import Xsoc.Pairing.Polling
import Xsoc.Pairing.Start
import Xsoc.Delivery
import Xsoc.System
import Xsoc.Transactions
import Xsoc.Contracts
import Xsoc.Promises
import Xsoc.Durable.Lineage
import Xsoc.Durable.Schedule
import Xsoc.Binding
import Xsoc.Recovery
import Xsoc.Status
import Xsoc.Replies
import Xsoc.Journals
import Xsoc.Modes
import Xsoc.Playback
import Xsoc.Driver
import Xsoc.Startup
import Xsoc.Archive
import Xsoc.Bounding.Marked
import Xsoc.Bounding.Ranked
import Xsoc.Report.Values
import Xsoc.Report.Records
import Xsoc.Report.Hardware
import Xsoc.Acceptance
import Xsoc.Report.Peaks
import Xsoc.Otlp
import Xsoc.ArchiveQueue
import Xsoc.Mobile
import Xsoc.Once
import Xsoc.RemoteBinding
import Xsoc.Collectors.GpuMerge
import Xsoc.Collectors.DiskRates
import Xsoc.Collectors.NvidiaIdentity
import Xsoc.Collectors.VendorMerge
import Xsoc.Collectors.WindowsInventory
import Xsoc.Collectors.Smbios
import Xsoc.Collectors.Backoff
import Xsoc.Collectors.Smart
import Xsoc.Maintenance.Dacl
import Xsoc.Maintenance.RestorePlan
import Xsoc.Maintenance.Removal
import Xsoc.Maintenance.AclRestore
import Xsoc.Maintenance.Preservation
import Xsoc.Maintenance.Retirement
import Xsoc.Maintenance.UninstallRollback
import Xsoc.Maintenance.Diagnostics
import Xsoc.Maintenance.Accounting
import Xsoc.Maintenance.RenameBuffer
import Xsoc.Collectors.MacosReport
import Xsoc.Collectors.LinuxDevices
import Xsoc.Machines.Steps
import Xsoc.Windows.ServiceHost
import Xsoc.Machines.Background
import Xsoc.Collectors.Scans
import Xsoc.Commandline
import Xsoc.Machines.Dialogue
import Xsoc.Setup.Workflow
import Xsoc.Setup.Evidence
import Xsoc.Setup.Outcome
import Xsoc.Machines.Crowd
import Xsoc.Administration.Commands
import Xsoc.Administration.Store
import Xsoc.Administration.Pairing
import Xsoc.Sampling
