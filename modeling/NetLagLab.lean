import NetLagLab.ByteLines
import NetLagLab.NetworkProfile
import NetLagLab.DecimalText
import NetLagLab.HelperCommands
import NetLagLab.RuntimeConversation
import NetLagLab.SupervisorConversation
import NetLagLab.ControllerCommands
import NetLagLab.ControlPlane
import NetLagLab.ControlPlaneBatches
import NetLagLab.SessionAdapter
import NetLagLab.SessionExecution
import NetLagLab.SessionInvariant
import NetLagLab.SessionReadiness
import NetLagLab.ReadGroups
import NetLagLab.SessionReads
import NetLagLab.CallPrograms
import NetLagLab.EnvironmentTransaction
import NetLagLab.CleanupLedger
import NetLagLab.ByteSearch
import NetLagLab.CallEnvironments
import NetLagLab.FirewallTools
import NetLagLab.PreparationTransaction
import NetLagLab.Connectivity
import NetLagLab.FirewalldReports
import NetLagLab.HostFirewall
import NetLagLab.ConnectivityOwnership
import NetLagLab.ConnectivitySessions
import NetLagLab.ConnectivityRemoval
import NetLagLab.ConnectivityRollback
import NetLagLab.HostSimulation
import NetLagLab.LifecycleHistory
import NetLagLab.LifecycleResults
import NetLagLab.StopEscalation
import NetLagLab.ControlPlaneSteps
import NetLagLab.ControlPlaneHistory
import NetLagLab.ConfirmedProfile
import NetLagLab.ReplyOwnership
import NetLagLab.ReplyOrder
import NetLagLab.ActionExecutor
import NetLagLab.SessionOutcomeBlock
import NetLagLab.ProductionLifecycle
import NetLagLab.EventQueue
import NetLagLab.LifecycleSafety
import NetLagLab.StopDeadlines
import NetLagLab.OutcomeDelivery
import NetLagLab.ControllerStream
import NetLagLab.StreamPieces
import NetLagLab.WorkloadContext
import NetLagLab.StartBlock
import NetLagLab.OutcomeBlockCodec
import NetLagLab.CommandCodec
import NetLagLab.FrameLanguage
import NetLagLab.ConversationStream
import NetLagLab.RuntimeStream
import NetLagLab.Binary64
import NetLagLab.Shaping
import NetLagLab.ShapingRoots
import NetLagLab.ShapingSoundness
import NetLagLab.RecoveryRecordText
import NetLagLab.RecoveryJournal
import NetLagLab.JournalAtomicity
import NetLagLab.HelperSession
import NetLagLab.HelperLink
import NetLagLab.HelperSupervision
import NetLagLab.HelperSessionEnd
import NetLagLab.AttachClient
import NetLagLab.AttachClientDecoding
import NetLagLab.StatusText
import NetLagLab.AttachClientStream
import NetLagLab.CanonicalFrames
import NetLagLab.ProfileTracking
import NetLagLab.VethPlacement
import NetLagLab.BlankWords
import NetLagLab.ResolverView
import NetLagLab.ResolverSnapshot
import NetLagLab.NsswitchSnapshot
import NetLagLab.SnapshotSize
import NetLagLab.FixedWidth
import NetLagLab.NetlinkAttributes
import NetLagLab.RouteDump
import NetLagLab.RouteDecoding
import NetLagLab.RouteCollision
import NetLagLab.QdiscDump
import NetLagLab.NetemOptions
import NetLagLab.QdiscDecoding
import NetLagLab.QdiscInventory
import NetLagLab.TokenSpelling
import NetLagLab.LossRounding
import NetLagLab.ControllerGrammar
import NetLagLab.ControllerParsing
import NetLagLab.ControllerDocumented
import NetLagLab.ProcessStatus
import NetLagLab.ProfileAlgebra
import NetLagLab.PolicyRouting
import NetLagLab.FirewalldIdentity
import NetLagLab.LinkMessage
import NetLagLab.AttributeSelection
import NetLagLab.LinkDecoding
import NetLagLab.LinkInventory
import NetLagLab.HonestHost
import NetLagLab.CrashRecovery
import NetLagLab.TruncatedListing
import NetLagLab.ReconciliationOutcome
import NetLagLab.CallRefinement
import NetLagLab.ProfileLedger
import NetLagLab.ProfileBalance
import NetLagLab.SessionBalance
import NetLagLab.SupervisorProgress
import NetLagLab.SupervisorProcess
import NetLagLab.SupervisedSession
import NetLagLab.ComposedSession
import NetLagLab.ComposedProgram
import NetLagLab.PipeReading
import NetLagLab.CommandRunner
import NetLagLab.CommandChild
import NetLagLab.CommandResults
import NetLagLab.CommandDraining
import NetLagLab.CallTranslation
import NetLagLab.ProductionRoots
import NetLagLab.HostObjects
import NetLagLab.ObjectOwnership
