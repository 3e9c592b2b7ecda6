import Scanout.Allocation
import Scanout.Bench.Display
import Scanout.Bench.Drawing
import Scanout.Bench.Files
import Scanout.Bench.Gbm
import Scanout.Bench.Gl
import Scanout.Bench.KernelModel
import Scanout.Bench.Machine
import Scanout.Bench.Pollable
import Scanout.Bench.Studio
import Scanout.Bench.Udev
import Scanout.Bench.World
import Scanout.BufferPool
import Scanout.CallError
import Scanout.Collaborators
import Scanout.CommandLine
import Scanout.CommandLine.Flag
import Scanout.Config
import Scanout.Config.Decode
import Scanout.ConfigFile
import Scanout.Discovery
import Scanout.DisplayError
import Scanout.Failure
import Scanout.Fence
import Scanout.Fourcc
import Scanout.Gles
import Scanout.Handle
import Scanout.Journal
import Scanout.Kdl.Document
import Scanout.Kdl.Lexeme
import Scanout.Kdl.Node
import Scanout.Kernel
import Scanout.Layout
import Scanout.LogFilter
import Scanout.Main
import Scanout.Memory.Display
import Scanout.Memory.Drawing
import Scanout.Memory.World
import Scanout.Mode
import Scanout.Modifier
import Scanout.Note
import Scanout.Number
import Scanout.Output
import Scanout.Pipeline
import Scanout.Polling
import Scanout.Program
import Scanout.Proofs.AllocationPolicy
import Scanout.Proofs.ArgumentReading
import Scanout.Proofs.AtomicRequests
import Scanout.Proofs.BufferLog
import Scanout.Proofs.CommitCourse
import Scanout.Proofs.ConfigReading
import Scanout.Proofs.CrowdedCrtcs
import Scanout.Proofs.CrtcMasks
import Scanout.Proofs.Custody
import Scanout.Proofs.DeviceSearch
import Scanout.Proofs.DrawRecord
import Scanout.Proofs.DroppedFrame
import Scanout.Proofs.Ending
import Scanout.Proofs.FenceCustody
import Scanout.Proofs.FenceWaiting
import Scanout.Proofs.FencedRun
import Scanout.Proofs.FencesClosed
import Scanout.Proofs.FirstWith
import Scanout.Proofs.FlipBalance
import Scanout.Proofs.FlipPacing
import Scanout.Proofs.FormatCodes
import Scanout.Proofs.FrameFailures
import Scanout.Proofs.FrameInMemory
import Scanout.Proofs.FramePresents
import Scanout.Proofs.FrameRecord
import Scanout.Proofs.FrameTransaction
import Scanout.Proofs.FramebufferRequests
import Scanout.Proofs.FramebuffersKept
import Scanout.Proofs.FramesAlike
import Scanout.Proofs.GraphicsCalls
import Scanout.Proofs.History
import Scanout.Proofs.HistoryCourse
import Scanout.Proofs.Inventory
import Scanout.Proofs.KeptByCalls
import Scanout.Proofs.KernelCalls
import Scanout.Proofs.KernelCommit
import Scanout.Proofs.Life
import Scanout.Proofs.MemoryAnswers
import Scanout.Proofs.MemorySetUp
import Scanout.Proofs.ModePick
import Scanout.Proofs.Modeset
import Scanout.Proofs.ModifierRequest
import Scanout.Proofs.ModifierSpellings
import Scanout.Proofs.ModifierText
import Scanout.Proofs.Numerals
import Scanout.Proofs.Outline
import Scanout.Proofs.OutputChoice
import Scanout.Proofs.PendingFlip
import Scanout.Proofs.PlaneChoice
import Scanout.Proofs.PoolAccounts
import Scanout.Proofs.PoolDisposal
import Scanout.Proofs.PropertyNaming
import Scanout.Proofs.Recording
import Scanout.Proofs.ReportSpacing
import Scanout.Proofs.RequiredProperties
import Scanout.Proofs.RingKept
import Scanout.Proofs.RingReuse
import Scanout.Proofs.RunCourse
import Scanout.Proofs.RunFailures
import Scanout.Proofs.RunInMemory
import Scanout.Proofs.RunRecord
import Scanout.Proofs.RunTally
import Scanout.Proofs.ScreenKept
import Scanout.Proofs.SelectionRecord
import Scanout.Proofs.SetUpOutcome
import Scanout.Proofs.SetUpRecord
import Scanout.Proofs.SettingsMerge
import Scanout.Proofs.ShownSlot
import Scanout.Proofs.SlotExports
import Scanout.Proofs.SplitRun
import Scanout.Proofs.Stages
import Scanout.Proofs.SteadyMemory
import Scanout.Proofs.Steps
import Scanout.Proofs.Submissions
import Scanout.Proofs.SurfaceCustody
import Scanout.Proofs.TableReads
import Scanout.Proofs.TextBytes
import Scanout.Proofs.TransactionContents
import Scanout.Proofs.TransactionShape
import Scanout.Proofs.Transcript
import Scanout.Proofs.Upkeep
import Scanout.PropertyReading
import Scanout.PropertyTable
import Scanout.Settings
import Scanout.Submission
import Scanout.Text.Fixed
import Scanout.Text.Hidden
import Scanout.Text.Quoted
import Scanout.Text.Similarity
import Scanout.Text.Utf8
import Scanout.Throughput
import Scanout.Topology
import Scanout.Transaction
import Scanout.World
