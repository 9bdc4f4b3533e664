import AiCustomerService.Properties.ActiveWorkflow
import AiCustomerService.Properties.AddedFacts
import AiCustomerService.Properties.AgentMessages
import AiCustomerService.Properties.BackendErrors
import AiCustomerService.Properties.CardSupplements
import AiCustomerService.Properties.CaseCardOnce
import AiCustomerService.Properties.CheckpointLeak
import AiCustomerService.Properties.ClickKeys
import AiCustomerService.Properties.CompletionTexts
import AiCustomerService.Properties.ComposedTexts
import AiCustomerService.Properties.ConfirmationHandled
import AiCustomerService.Properties.DeliveryOrder
import AiCustomerService.Properties.EventGraphRuns
import AiCustomerService.Properties.EventOnce
import AiCustomerService.Properties.EventOrder
import AiCustomerService.Properties.FailureCount
import AiCustomerService.Properties.FaqRows
import AiCustomerService.Properties.FollowupOnce
import AiCustomerService.Properties.HandoffAck
import AiCustomerService.Properties.HandoffLock
import AiCustomerService.Properties.HistorySnapshot
import AiCustomerService.Properties.HumanRequest
import AiCustomerService.Properties.IdentityEvidence
import AiCustomerService.Properties.IdentityMatch
import AiCustomerService.Properties.IdleResumed
import AiCustomerService.Properties.IdleSlotMemory
import AiCustomerService.Properties.IdleTakeover
import AiCustomerService.Properties.ImagePromotion
import AiCustomerService.Properties.IngressAgreement
import AiCustomerService.Properties.IngressOnce
import AiCustomerService.Properties.LanguageGuess
import AiCustomerService.Properties.LateAnswers
import AiCustomerService.Properties.NamedCase
import AiCustomerService.Properties.NegatedReceipt
import AiCustomerService.Properties.PlayerSearch
import AiCustomerService.Properties.RagAnswers
import AiCustomerService.Properties.RagSearch
import AiCustomerService.Properties.RecheckConfirmation
import AiCustomerService.Properties.RecheckMemory
import AiCustomerService.Properties.RecheckQuery
import AiCustomerService.Properties.RecoveryPace
import AiCustomerService.Properties.ReminderAlive
import AiCustomerService.Properties.ReopenedStatus
import AiCustomerService.Properties.RepliesMapped
import AiCustomerService.Properties.ReplyFacts
import AiCustomerService.Properties.ReplyKeys
import AiCustomerService.Properties.ReplyNumbers
import AiCustomerService.Properties.ReplyScript
import AiCustomerService.Properties.ReportHandoff
import AiCustomerService.Properties.ReportOnce
import AiCustomerService.Properties.ReportSchedule
import AiCustomerService.Properties.ReportThreads
import AiCustomerService.Properties.ResolvedCases
import AiCustomerService.Properties.ResultCommits
import AiCustomerService.Properties.ResultDispute
import AiCustomerService.Properties.ResultOnce
import AiCustomerService.Properties.RetryLimit
import AiCustomerService.Properties.RunnerAccounts
import AiCustomerService.Properties.RunnerExit
import AiCustomerService.Properties.RunnerShutdown
import AiCustomerService.Properties.SendRetries
import AiCustomerService.Properties.SentRows
import AiCustomerService.Properties.StaffReply
import AiCustomerService.Properties.StaleSnapshot
import AiCustomerService.Properties.StickyStatus
import AiCustomerService.Properties.TakeoverRetry
import AiCustomerService.Properties.TransferOnce
import AiCustomerService.Properties.TurnoverMet
import AiCustomerService.Properties.TurnoverRemaining
